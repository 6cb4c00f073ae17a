import Mathlib.Algebra.Group.Prod
import PlanReuse.Proofs.Pool.Counting
import PlanReuse.Proofs.Pool.Limits

/-!
# Which insertions are counted

An attempt to put an artifact in is answered, and the tally counts it as its answer says, once. Two
attempts are answered and not counted: that of an artifact without a key, which is turned away before the
pool looks at it, and one that is accepted because its key is in use. Nothing but attempts is counted so.
-/

namespace PlanReuse

/-- What a tally has counted of insertions: those taken and those turned away. -/
def Tally.insertions (t : Tally) : Nat × Nat := (t.accepted, t.rejected)

theorem Tally.insertions_add (t u : Tally) : (t + u).insertions = t.insertions + u.insertions := rfl

theorem Tally.insertions_evicted (sizes : List Nat) : (Tally.evicted sizes).insertions = 0 := rfl

/-- What an answer says is to be counted. -/
def PutOutcome.count : PutOutcome → Nat × Nat
  | .accepted => (1, 0)
  | .rejected _ => (0, 1)

theorem PutOutcome.count_ne_zero (o : PutOutcome) : o.count ≠ 0 := by
  cases o with
  | accepted => exact fun h => Nat.one_ne_zero (congrArg Prod.fst h)
  | rejected why => exact fun h => Nat.one_ne_zero (congrArg Prod.snd h)

namespace Pool

variable {α : Type}

/-! ### Changes -/

theorem insertions_change (p : Pool α) (c : Change α) :
    (p.change c).tally.insertions = p.tally.insertions + (p.noted c).insertions := by
  rw [tally_change, counted, Tally.insertions_add, Tally.insertions_add, Tally.insertions_evicted, add_zero]

theorem insertions_put (p : Pool α) (key : ArtifactKey) (a : Address) (item : α) (size : Nat) :
    (p.put key a item size).2.tally.insertions = p.tally.insertions +
      if (p.put key a item size).1.outcome.isAccepted && p.contains key a then 0
      else (p.put key a item size).1.outcome.count := by
  have hchange := p.insertions_change (.put key a item size)
  rw [change, noted, isFresh_put] at hchange
  rw [hchange]
  congr 1
  cases (p.put key a item size).1.outcome with
  | accepted => cases p.contains key a <;> rfl
  | rejected why => rfl

/-- An artifact offered to a pool, and the pool at that moment. -/
structure Attempt (α : Type) where
  pool : Pool α
  offer : Offer α

/-- The attempt that a change is, if it is one. -/
def attemptOf (p : Pool α) : Change α → List (Attempt α)
  | .put key a item size => [⟨p, .put key a item size⟩]
  | _ => []

section Artifacts

variable [Artifact α]

namespace Attempt

def report (t : Attempt α) : PutReport α := (t.pool.offer t.offer).1

/-- The pool after the attempt. -/
def after (t : Attempt α) : Pool α := (t.pool.offer t.offer).2

def hasKey (t : Attempt α) : Bool := t.offer.key?.isSome

/-- The artifact has a key, and the key stands for another artifact already. -/
def isInUse (t : Attempt α) : Bool := t.offer.key?.any fun key => t.pool.contains key t.offer.address

/-- Counted once, and as the answer says. -/
def Counted (t : Attempt α) : Prop :=
  t.after.tally.insertions = t.pool.tally.insertions + t.report.outcome.count

instance (t : Attempt α) : Decidable t.Counted := inferInstanceAs (Decidable (_ = _))

/-- What the tally counts. -/
def count (t : Attempt α) : Nat × Nat :=
  if !t.hasKey || (t.report.outcome.isAccepted && t.isInUse) then 0 else t.report.outcome.count

theorem insertions_after (t : Attempt α) :
    t.after.tally.insertions = t.pool.tally.insertions + t.count := by
  obtain ⟨p, x⟩ := t
  cases x with
  | put key a item size => exact p.insertions_put key a item size
  | putItem item =>
    cases hkey : Artifact.key? item with
    | none =>
      simp only [count, hasKey, after, Pool.offer, putItem, Offer.key?, hkey]
      rfl
    | some key =>
      have hput := p.insertions_put key ⟨Artifact.artifactClass item, Artifact.device item⟩ item
        (Artifact.size item)
      simpa only [count, hasKey, isInUse, report, after, Pool.offer, putItem, Offer.key?, Offer.address,
        hkey, Option.isSome_some, Option.any_some, Bool.not_true, Bool.false_or] using hput

theorem counted_iff (t : Attempt α) :
    t.Counted ↔ t.hasKey = true ∧ (t.report.outcome = .accepted → t.isInUse = false) := by
  have hne := t.report.outcome.count_ne_zero.symm
  rw [Counted, insertions_after, add_right_inj, count]
  cases t.hasKey with
  | false => simp [hne]
  | true =>
    cases houtcome : t.report.outcome with
    | accepted =>
      rw [houtcome] at hne
      cases t.isInUse <;> simp [PutOutcome.isAccepted, hne]
    | rejected why => simp [PutOutcome.isAccepted]

theorem hasKey_of_accepted {t : Attempt α} (h : t.report.outcome = .accepted) : t.hasKey = true := by
  obtain ⟨key, _, _, hkey, _⟩ := offer_of_accepted h
  exact Option.isSome_iff_exists.mpr ⟨key, hkey⟩

theorem count_eq (t : Attempt α) :
    t.count = ((t.report.outcome.isAccepted && !t.isInUse).toNat,
      (!t.report.outcome.isAccepted && t.hasKey).toNat) := by
  rw [count]
  cases houtcome : t.report.outcome with
  | accepted =>
    rw [hasKey_of_accepted houtcome]
    cases t.isInUse <;> rfl
  | rejected why => cases t.hasKey <;> rfl

theorem insertions_of_not_counted {t : Attempt α} (h : ¬ t.Counted) :
    t.after.tally.insertions = t.pool.tally.insertions := by
  have hafter := t.insertions_after
  rw [Counted, hafter, add_right_inj, count] at h
  rw [hafter, count]
  split
  · rfl
  · next hcount =>
    rw [if_neg hcount] at h
    exact absurd rfl h

end Attempt

/-! ### Runs -/

mutual

/-- The attempts of an action, those of a builder between the look-up and its own artifact's. -/
def attemptsOf : Action α → Pool α → List (Attempt α)
  | .change c, p => p.attemptOf c
  | .putItem item, p => [⟨p, .putItem item⟩]
  | .reuseOrBuild key a size during built, p =>
    if p.contains key a then []
    else
      attempts during (p.get key a).2 ++
        (builtChange? key a size built).toList.flatMap (run during (p.get key a).2).attemptOf

/-- The attempts of a run, first to last. -/
def attempts : List (Action α) → Pool α → List (Attempt α)
  | [], _ => []
  | x :: xs, p => attemptsOf x p ++ attempts xs (act x p)

end

/-- All that the tally counts of some attempts. -/
def countOf (ts : List (Attempt α)) : Nat × Nat := (ts.map Attempt.count).sum

theorem countOf_append (ts us : List (Attempt α)) : countOf (ts ++ us) = countOf ts + countOf us := by
  rw [countOf, List.map_append, List.sum_append, countOf, countOf]

theorem insertions_change_eq (p : Pool α) (c : Change α) :
    (p.change c).tally.insertions = p.tally.insertions + countOf (p.attemptOf c) := by
  cases c with
  | put key a item size =>
    have hafter := Attempt.insertions_after ⟨p, .put key a item size⟩
    rwa [attemptOf, countOf, List.map_singleton, List.sum_singleton]
  | get key a =>
    rw [insertions_change, noted]
    split
    · cases a.artifactClass <;> rfl
    · rfl
  | _ => exact insertions_change p _

theorem insertions_changeAll (p : Pool α) (c : Option (Change α)) :
    (p.changeAll c.toList).tally.insertions =
      p.tally.insertions + countOf (c.toList.flatMap p.attemptOf) := by
  cases c with
  | none => rfl
  | some c =>
    have hchange := p.insertions_change_eq c
    simpa [changeAll] using hchange

mutual

theorem insertions_act (x : Action α) (p : Pool α) :
    (p.act x).tally.insertions = p.tally.insertions + countOf (p.attemptsOf x) := by
  cases x with
  | change c =>
    rw [act, attemptsOf]
    exact p.insertions_change_eq c
  | putItem item =>
    have hafter := Attempt.insertions_after ⟨p, .putItem item⟩
    rwa [act, attemptsOf, countOf, List.map_singleton, List.sum_singleton]
  | reuseOrBuild key a size during built =>
    have hlooked : (p.get key a).2.tally.insertions = p.tally.insertions :=
      p.insertions_change_eq (.get key a)
    rw [act, attemptsOf]
    cases hcontains : p.contains key a with
    | true =>
      rw [getOrBuild_of_contains hcontains]
      exact hlooked
    | false =>
      rw [getOrBuild_of_not_contains hcontains, insertions_changeAll, insertions_run during, hlooked,
        if_neg Bool.false_ne_true, countOf_append, add_assoc]

theorem insertions_run (xs : List (Action α)) (p : Pool α) :
    (p.run xs).tally.insertions = p.tally.insertions + countOf (p.attempts xs) := by
  cases xs with
  | nil => rfl
  | cons x xs =>
    rw [run, attempts, countOf_append, ← add_assoc, ← insertions_act x p]
    exact insertions_run xs (p.act x)

end

theorem countOf_eq (ts : List (Attempt α)) :
    countOf ts =
      (ts.countP fun t => t.report.outcome.isAccepted && !t.isInUse,
        ts.countP fun t => !t.report.outcome.isAccepted && t.hasKey) := by
  induction ts with
  | nil => rfl
  | cons t ts ih =>
    have htoNat (b : Bool) (n : Nat) : b.toNat + n = n + if b = true then 1 else 0 := by
      cases b <;> exact Nat.add_comm _ _
    rw [countOf, List.map_cons, List.sum_cons, ← countOf, ih, Attempt.count_eq, Prod.mk_add_mk,
      List.countP_cons, List.countP_cons, htoNat, htoNat]

/-- Of the attempts of a run exactly those are counted, once and as they are answered, whose artifact has a
key that was not in use when it was accepted; the others change neither count. What a run has counted is
what these attempts come to. -/
theorem counted_iff_of_mem (p : Pool α) (actions : List (Action α)) :
    (∀ t ∈ p.attempts actions,
      (t.Counted ↔ t.hasKey = true ∧ (t.report.outcome = .accepted → t.isInUse = false)) ∧
        (¬ t.Counted → t.after.tally.insertions = t.pool.tally.insertions)) ∧
      (p.run actions).tally.accepted = p.tally.accepted +
        (p.attempts actions).countP (fun t => t.report.outcome.isAccepted && !t.isInUse) ∧
      (p.run actions).tally.rejected = p.tally.rejected +
        (p.attempts actions).countP (fun t => !t.report.outcome.isAccepted && t.hasKey) := by
  have hrun := p.insertions_run actions
  rw [countOf_eq] at hrun
  refine ⟨?_, congrArg Prod.fst hrun, congrArg Prod.snd hrun⟩
  exact fun t _ => ⟨t.counted_iff, Attempt.insertions_of_not_counted⟩

/- A builder puts another artifact in before its own. Then a table is offered under the key of that one,
one without a key, and one that is too large. Five attempts are answered and three of them counted. -/
theorem counted_iff_of_mem_with_builder :
    let table (key : Option ArtifactKey) : JoinTable :=
      ⟨.perfect 0 0, .oneToOne, key, 0, 5, Array.replicate 5 0⟩
    let a : Address := ⟨.perfect, 0⟩
    let p : Pool JoinTable := new "tables" (.uniform ⟨100, 100⟩)
    let actions : List (Action JoinTable) :=
      [.reuseOrBuild ⟨1⟩ a JoinTable.size [.change (.put ⟨2⟩ a (table none) 40)] (.ok (table none)),
        .putItem (table (some ⟨2⟩)), .putItem (table none), .change (.put ⟨3⟩ a (table none) 101)]
    ((p.attempts actions).map fun t => t.report.outcome) =
        [.accepted, .accepted, .accepted, .rejected .noKey, .rejected (.overItemLimit 101 100)] ∧
      (p.run actions).tally.accepted = 2 ∧ (p.run actions).tally.rejected = 1 ∧
      ∃ t ∈ p.attempts actions, t.report.outcome = .rejected (.overItemLimit 101 100) ∧ t.Counted := by
  intro table a p actions
  have hvalues : ((p.attempts actions).map fun t => t.report.outcome) =
        [.accepted, .accepted, .accepted, .rejected .noKey, .rejected (.overItemLimit 101 100)] ∧
      (p.attempts actions).countP (fun t => t.report.outcome.isAccepted && !t.isInUse) = 2 ∧
      (p.attempts actions).countP (fun t => !t.report.outcome.isAccepted && t.hasKey) = 1 ∧
      ∃ t ∈ p.attempts actions,
        t.report.outcome = .rejected (.overItemLimit 101 100) ∧ t.hasKey = true := by
    decide +kernel +revert
  obtain ⟨hanswers, haccepted, hrejected, t, ht, houtcome, hkey⟩ := hvalues
  obtain ⟨hall, htaken, hturned⟩ := counted_iff_of_mem p actions
  rw [haccepted] at htaken
  rw [hrejected] at hturned
  have hcounted : t.Counted := by
    refine (hall t ht).1.mpr ⟨hkey, ?_⟩
    intro h
    rw [houtcome] at h
    cases h
  exact ⟨hanswers, htaken, hturned, t, ht, houtcome, hcounted⟩

/- A table put in twice under one key is accepted twice, and one without a key is turned away. One
insertion is counted as taken and none as turned away. -/
theorem answers_not_counted :
    let table : JoinTable := ⟨.perfect 0 0, .oneToOne, none, 0, 5, Array.replicate 5 0⟩
    let a : Address := ⟨.perfect, 0⟩
    let p : Pool JoinTable := new "tables" (.uniform ⟨100, 100⟩)
    let actions : List (Action JoinTable) :=
      [.change (.put ⟨1⟩ a table 10), .change (.put ⟨1⟩ a table 10), .putItem table]
    ((p.attempts actions).map fun t => t.report.outcome) = [.accepted, .accepted, .rejected .noKey] ∧
      (p.run actions).tally.accepted = 1 ∧ (p.run actions).tally.rejected = 0 ∧
      (∃ t ∈ p.attempts actions, t.report.outcome = .accepted ∧ ¬ t.Counted) ∧
      ∃ t ∈ p.attempts actions, t.report.outcome = .rejected .noKey ∧ ¬ t.Counted := by
  decide +kernel

end Artifacts

end Pool

end PlanReuse
