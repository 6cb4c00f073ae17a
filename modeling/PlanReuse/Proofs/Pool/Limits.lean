import PlanReuse.JoinTable.Basic
import PlanReuse.Proofs.Pool.Accounting

/-!
# Limits after an insertion

A total may be lowered below what a partition holds already. The insertion of a new key then evicts until
the total is kept again. An offer under a key that is in use is accepted before any room is made, so it
leaves a partition that exceeds its total as it is.
-/

namespace PlanReuse.Pool

variable {α : Type}

/-- The sizes of all artifacts kept at an address, added up. -/
def load (p : Pool α) (a : Address) : Nat := ((p.partition a).entries.map fun e => e.usage.size).sum

theorem Sound.occupied_eq_load {p : Pool α} (hp : p.Sound) (a : Address) : p.occupied a = p.load a :=
  (hp.partition a).occupied

/-- An artifact offered to a pool: under a key and at an address, or under its own key at its own. -/
inductive Offer (α : Type)
  | put (key : ArtifactKey) (a : Address) (item : α) (size : Nat)
  | putItem (item : α)

/-- An accepted artifact leaves its partition within the total, unless its key was in use and the
partition exceeded the total already. -/
theorem load_put_le_iff {p : Pool α} (hp : p.Sound) {key : ArtifactKey} {a : Address} {item : α}
    {size : Nat} (htotal : (p.budgets.get a.artifactClass).total < maxWord)
    (haccepted : (p.put key a item size).1.outcome = .accepted) :
    (p.put key a item size).2.load a ≤ (p.budgets.get a.artifactClass).total ↔
      (p.contains key a = true → p.load a ≤ (p.budgets.get a.artifactClass).total) := by
  have hafter : (p.put key a item size).2.Sound := hp.change (.put key a item size)
  rcases p.put_cases key a item size with ⟨why, _, hput⟩ | ⟨_, hholds, hput⟩ |
    ⟨_, hholds, _, hput⟩ | ⟨_, _, _, hput⟩
  · rw [hput] at haccepted
    cases haccepted
  · have hcontains : p.contains key a = true := hholds
    rw [hput, hcontains]
    exact ⟨fun h _ => h, fun h => h rfl⟩
  · have hcontains : p.contains key a = false := hholds
    have hfresh : (p.put key a item size).1.isFresh = true := by
      rw [hput]
      rfl
    have hbound := (put_of_isFresh hfresh).2.2 htotal
    rw [hafter.occupied_eq_load] at hbound
    rw [hcontains]
    exact ⟨fun _ h => (Bool.false_ne_true h).elim, fun _ => hbound⟩
  · rw [hput] at haccepted
    cases haccepted

section Offers

variable [Artifact α]

def Offer.address : Offer α → Address
  | .put _ a _ _ => a
  | .putItem item => ⟨Artifact.artifactClass item, Artifact.device item⟩

/-- The key of the artifact, if it has one. -/
def Offer.key? : Offer α → Option ArtifactKey
  | .put key _ _ _ => some key
  | .putItem item => Artifact.key? item

def offer (p : Pool α) : Offer α → PutReport α × Pool α
  | .put key a item size => p.put key a item size
  | .putItem item => p.putItem item

/-- An artifact with a key is put in under it, and one without is never accepted. -/
theorem offer_of_accepted {p : Pool α} {x : Offer α} (h : (p.offer x).1.outcome = .accepted) :
    ∃ key item size, x.key? = some key ∧ p.offer x = p.put key x.address item size := by
  cases x with
  | put key a item size => exact ⟨key, item, size, rfl, rfl⟩
  | putItem item =>
    rw [offer, putItem] at h
    cases hkey : Artifact.key? item with
    | none =>
      rw [hkey] at h
      cases h
    | some key =>
      refine ⟨key, item, Artifact.size item, hkey, ?_⟩
      rw [offer, putItem, hkey]
      rfl

/-- A pool that a run leads to, with all totals below the largest word all along. -/
def Reached (p : Pool α) : Prop :=
  ∃ name budgets actions, (∀ c, (budgets.get c).total < maxWord) ∧
    (∀ c bytes, Change.setTotal c bytes ∈ (new name budgets).changes actions → bytes < maxWord) ∧
    p = (new name budgets).run actions

/-- The changes of a run without builders are the actions themselves. -/
theorem changes_map_change (p : Pool α) (cs : List (Change α)) : p.changes (cs.map .change) = cs := by
  induction cs generalizing p with
  | nil => rfl
  | cons c cs ih => rw [List.map_cons, changes, changesOf, ih, List.singleton_append]

theorem reached_run_map_change (name : String) {budgets : Budgets} {cs : List (Change α)}
    (hstart : ∀ c, (budgets.get c).total < maxWord)
    (hset : ∀ c bytes, Change.setTotal c bytes ∈ cs → bytes < maxWord) :
    ((new name budgets).run (cs.map .change)).Reached := by
  refine ⟨name, budgets, cs.map .change, hstart, ?_, rfl⟩
  rw [changes_map_change]
  exact hset

theorem Reached.exists_accounted {p : Pool α} (hp : p.Reached) : ∃ made, Accounted p made := by
  obtain ⟨name, budgets, actions, hstart, hset, rfl⟩ := hp
  rw [run_eq_changeAll]
  exact ⟨_, (accounted_new name hstart).changeAll hset⟩

/-- In every pool that a run leads to, an accepted offer leaves its partition within the total in force
exactly if the key of the artifact was not in use or the partition was within the total before. -/
theorem load_le_total_iff {p : Pool α} (hp : p.Reached) (x : Offer α)
    (haccepted : (p.offer x).1.outcome = .accepted) :
    (p.offer x).2.load x.address ≤ (p.budgets.get x.address.artifactClass).total ↔
      ((∃ key, x.key? = some key ∧ p.contains key x.address = true) →
        p.load x.address ≤ (p.budgets.get x.address.artifactClass).total) := by
  obtain ⟨made, hmade⟩ := hp.exists_accounted
  obtain ⟨key, item, size, hkey, hput⟩ := offer_of_accepted haccepted
  rw [hput] at haccepted ⊢
  rw [load_put_le_iff hmade.sound (hmade.totals _) haccepted]
  constructor
  · rintro h ⟨k, hk, hcontains⟩
    rw [hkey, Option.some.injEq] at hk
    exact h (hk ▸ hcontains)
  · exact fun h hcontains => h ⟨key, hkey, hcontains⟩

/- Two artifacts of 40 bytes are kept when the total is lowered to 60. The one that is offered then has a
new key, and the lesser used of the two has to leave for it. -/
theorem load_le_total_iff_of_new_key :
    let table (key : UInt64) : JoinTable :=
      ⟨.perfect 0 0, .oneToOne, some ⟨key⟩, 0, 5, Array.replicate 5 0⟩
    let a : Address := ⟨.perfect, 0⟩
    let budgets := Budgets.uniform ⟨100, 100⟩
    let cs : List (Change JoinTable) :=
      [.put ⟨1⟩ a (table 1) 40, .put ⟨2⟩ a (table 2) 40, .get ⟨1⟩ a, .setTotal .perfect 60]
    let p := (new "tables" budgets).run (cs.map .change)
    let x : Offer JoinTable := .putItem (table 3)
    p.Reached ∧
      ((p.offer x).1.outcome = .accepted ∧ p.load x.address = 80 ∧ (p.offer x).2.load x.address = 60) ∧
      ((p.offer x).2.load x.address ≤ (p.budgets.get x.address.artifactClass).total ↔
        ((∃ key, x.key? = some key ∧ p.contains key x.address = true) →
          p.load x.address ≤ (p.budgets.get x.address.artifactClass).total)) := by
  intro table a budgets cs p x
  have hvalues : (p.offer x).1.outcome = .accepted ∧ p.load x.address = 80 ∧
      (p.offer x).2.load x.address = 60 := by decide +kernel +revert
  have hreached : p.Reached := by
    apply reached_run_map_change
    · intro c
      cases c <;> decide
    · intro c bytes h
      obtain ⟨rfl, rfl⟩ : c = .perfect ∧ bytes = 60 := by simpa [cs] using h
      decide
  exact ⟨hreached, hvalues, load_le_total_iff hreached x hvalues.1⟩

/- The same with 50 for the total, and the key of a kept artifact for the offered one. It is accepted
without making room, and the two kept artifacts still take more than the total. -/
theorem total_lt_load_of_key_in_use :
    let table (key : UInt64) : JoinTable :=
      ⟨.perfect 0 0, .oneToOne, some ⟨key⟩, 0, 5, Array.replicate 5 0⟩
    let a : Address := ⟨.perfect, 0⟩
    let budgets := Budgets.uniform ⟨100, 100⟩
    let cs : List (Change JoinTable) :=
      [.put ⟨1⟩ a (table 1) 40, .put ⟨2⟩ a (table 2) 40, .get ⟨1⟩ a, .setTotal .perfect 50]
    let p := (new "tables" budgets).run (cs.map .change)
    let x : Offer JoinTable := .put ⟨1⟩ a (table 1) 10
    p.Reached ∧ (p.offer x).1.outcome = .accepted ∧
      ¬ (p.offer x).2.load x.address ≤ (p.budgets.get x.address.artifactClass).total := by
  intro table a budgets cs p x
  have hvalues : (p.offer x).1.outcome = .accepted ∧
      ¬ (p.offer x).2.load x.address ≤ (p.budgets.get x.address.artifactClass).total := by
    decide +kernel +revert
  have hreached : p.Reached := by
    apply reached_run_map_change
    · intro c
      cases c <;> decide
    · intro c bytes h
      obtain ⟨rfl, rfl⟩ : c = .perfect ∧ bytes = 50 := by simpa [cs] using h
      decide
  exact ⟨hreached, hvalues⟩

end Offers

end PlanReuse.Pool
